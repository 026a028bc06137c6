/-
What each operation may change, and that it changes nothing halfway. An operation that fails leaves
every file byte for byte as it was, with no draft of its own among them, and what it may leave behind
is directories that it made on its way; one that succeeds writes its one file (`operations_frame`).
-/
import Investigations.Proofs.Build.Append
import Investigations.Statistics.Reporter

namespace Investigations

open Files

/-- What an outcome may differ in from the disk before: after a failure in directories that are new at
places of `made`, after success in these and in files at places of `written`. -/
structure Frame {α : Type} (before : Disk) (outcome : Outcome α) (made written : Place → Prop) :
    Prop where
  failed : ∀ failure, outcome.answer = .error failure →
    before.Changed made (fun _ => False) outcome.disk
  done : ∀ answer, outcome.answer = .ok answer → before.Changed made written outcome.disk

/-! ## Suggestions -/

theorem SuggestionStore.save_frame (disk : Disk) (identity : ServerIdentity) (path : Path)
    (suggestions : List Suggestion) :
    let saved := save disk identity path suggestions
    Frame disk saved (fun _ => False) (saved.disk.Leads path) := by
  refine ⟨fun failure h => ?_, fun answer h => (Disk.replace_ok (save_ok h).2.2).1⟩
  rw [save_error h]
  exact .refl ..

theorem Build.append_frame (build : Build) (identity : ServerIdentity) (new : List Suggestion)
    (reporter : Reporter) (disk : Disk) :
    let added := (build.append identity new reporter disk).1
    Frame disk added (added.disk.Leads build.pluginDirectory)
      (added.disk.Leads build.suggestionsFile) :=
  ⟨fun _ h => append_error_changed h, fun _ _ => append_changed ..⟩

/-! ## Statistics -/

/-- All that writing statistics can come to: they are on disk already, a failure after directories
were made or not, or the file is replaced. -/
theorem StatisticsStore.write_cases (store : StatisticsStore) (disk : Disk)
    (statistics : Statistics) :
    (store.onDisk = statistics ∧ store.write disk statistics = (⟨.ok (), disk, []⟩, store)) ∨
    (store.onDisk ≠ statistics ∧ ∃ failure, store.write disk statistics =
      (⟨.error failure, (disk.makeDirectories store.directory).2, []⟩, store)) ∨
    ∃ written, (disk.makeDirectories store.directory).2.replace store.path (encode statistics) =
        (.ok (), written) ∧
      store.write disk statistics =
        (⟨.ok (), written, [.statisticsSaved store.path]⟩, { store with onDisk := statistics }) := by
  unfold write
  split
  · rename_i hsame
    exact .inl ⟨hsame, rfl⟩
  · rename_i hother
    refine .inr ?_
    rcases hmake : disk.makeDirectories store.directory with ⟨fault | done, made⟩
    · exact .inl ⟨hother, _, rfl⟩
    · dsimp only
      rcases hreplace : made.replace store.path (encode statistics) with ⟨fault | done, left⟩
      · rw [Disk.replace_error hreplace]
        exact .inl ⟨hother, _, rfl⟩
      · exact .inr ⟨left, rfl, rfl⟩

theorem StatisticsStore.write_frame (store : StatisticsStore) (disk : Disk)
    (statistics : Statistics) :
    let written := (store.write disk statistics).1
    Frame disk written (written.disk.OnWay store.directory) (written.disk.Leads store.path) := by
  have hmade := disk.makeDirectories_changed store.directory
  rcases store.write_cases disk statistics with ⟨-, he⟩ | ⟨-, failure, he⟩ | ⟨written, hr, he⟩ <;>
    rw [he]
  · exact ⟨fun _ _ => .refl .., fun _ _ => .refl ..⟩
  · exact ⟨fun _ _ => hmade, fun _ h => by cases h⟩
  · refine ⟨fun _ h => (by cases h), fun _ _ => ?_⟩
    -- Directories that were made are on the way after the file is written, too.
    have hfile := (Disk.replace_ok hr).1
    exact (hmade.mono (fun p h => h.grow hfile) fun _ => False.elim).trans
      (hfile.mono (fun _ => False.elim) fun _ h => h)

/-- What a store takes the file to hold changes with the file only. -/
theorem StatisticsStore.write_store {store : StatisticsStore} {disk : Disk}
    {statistics : Statistics} {failure : Error}
    (h : (store.write disk statistics).1.answer = .error failure) :
    (store.write disk statistics).2 = store := by
  rcases store.write_cases disk statistics with ⟨-, he⟩ | ⟨-, _, he⟩ | ⟨written, hr, he⟩ <;>
    rw [he] at h ⊢
  cases h

theorem Reporter.save_frame (reporter : Reporter) (disk : Disk) :
    let saved := (reporter.save disk).1
    Frame disk saved (saved.disk.OnWay reporter.store.directory) (saved.disk.Leads reporter.store.path) := by
  unfold save
  split
  · exact reporter.store.write_frame disk reporter.statistics
  · exact ⟨fun _ _ => .refl .., fun _ _ => .refl ..⟩

theorem Reporter.save_store {reporter : Reporter} {disk : Disk} {failure : Error}
    (h : (reporter.save disk).1.answer = .error failure) : (reporter.save disk).2 = reporter := by
  unfold save at h ⊢
  split
  · rename_i he
    rw [if_pos he] at h
    dsimp only at h ⊢
    rw [StatisticsStore.write_store h]
  · rfl

theorem Reporter.save_disabled {reporter : Reporter} (h : reporter.enabled = false) (disk : Disk) :
    reporter.save disk = (⟨.ok (), disk, []⟩, reporter) := by
  unfold save
  rw [h]
  rfl

/-- Counting does not enable a reporter. -/
theorem Reporter.enabled_report (usages : List Usage) (reporter : Reporter) :
    (usages.foldl report reporter).enabled = reporter.enabled := by
  induction usages generalizing reporter with
  | nil => rfl
  | cons usage rest ih => exact ih (reporter.report usage)

/-! ## All operations -/

/-- No operation does its work by halves. A failure leaves every file as it was, and no more than
directories on the way; success writes the one file that the operation is about. What a store takes
to be on disk stays with a failure, and a reporter that must not save touches nothing. -/
theorem operations_frame (disk : Disk) :
    (∀ identity path suggestions,
      let saved := SuggestionStore.save disk identity path suggestions
      Frame disk saved (fun _ => False) (saved.disk.Leads path) ∧
        ∀ failure, saved.answer = .error failure → saved.disk = disk) ∧
    (∀ (build : Build) identity new reporter,
      let added := build.append identity new reporter disk
      Frame disk added.1 (added.1.disk.Leads build.pluginDirectory)
          (added.1.disk.Leads build.suggestionsFile) ∧
        added.2.store = reporter.store) ∧
    (∀ (store : StatisticsStore) statistics,
      let written := store.write disk statistics
      Frame disk written.1 (written.1.disk.OnWay store.directory) (written.1.disk.Leads store.path) ∧
        ∀ failure, written.1.answer = .error failure → written.2 = store) ∧
    (∀ reporter : Reporter,
      let saved := reporter.save disk
      Frame disk saved.1 (saved.1.disk.OnWay reporter.store.directory)
          (saved.1.disk.Leads reporter.store.path) ∧
        (∀ failure, saved.1.answer = .error failure → saved.2 = reporter) ∧
        (reporter.enabled = false → saved = (⟨.ok (), disk, []⟩, reporter))) ∧
    ∀ usages : List Usage,
      let reporter := usages.foldl Reporter.report .inMemory
      reporter.save disk = (⟨.ok (), disk, []⟩, reporter) := by
  refine ⟨fun identity path suggestions => ⟨SuggestionStore.save_frame .., fun _ => SuggestionStore.save_error⟩,
    fun build identity new reporter => ⟨build.append_frame .., build.append_store ..⟩,
    fun store statistics => ⟨store.write_frame .., fun _ => StatisticsStore.write_store⟩,
    fun reporter => ⟨reporter.save_frame .., fun _ => Reporter.save_store,
      fun h => Reporter.save_disabled h disk⟩, fun usages => ?_⟩
  exact Reporter.save_disabled (Reporter.enabled_report usages .inMemory) disk

/-- A file with a broken line keeps new suggestions from being added, and every file stays as it is. -/
theorem operations_frame_refused :
    let build : Build := ⟨7, ⟨"a"⟩⟩
    let disk := Build.diskWith "serverUUID\ts\nt\r1\tu1\tr\n"
    let added := (build.append ⟨"s"⟩ [⟨"t2", "u2", ""⟩] .inMemory disk).1
    (∃ failure, added.answer = .error failure) ∧ ∀ p content,
      added.disk.root.node? p = some (.file content) ↔ disk.root.node? p = some (.file content) := by
  intro build disk added
  have h : added.answer =
      .error (.invalidSuggestion "t\r1" "test name id contains a tab or line break") := by
    decide +kernel
  refine ⟨⟨_, h⟩, fun p content => ?_⟩
  have hframe := ((operations_frame disk).2.1 build ⟨"s"⟩ [⟨"t2", "u2", ""⟩] .inMemory).1
  exact (hframe.failed _ h).tree.file_iff not_false content

end Investigations
